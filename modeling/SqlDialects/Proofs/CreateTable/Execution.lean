import SqlDialects.Engine.Script
import SqlDialects.Proofs.BulkLoad.Upload
import SqlDialects.Proofs.CreateTable.Breaks
import SqlDialects.Proofs.CreateTable.Resolution

/-!
# What is executed when a table is created

The statement of a plan is cut into batches and these are given to the engine one after the other;
loading data afterwards gives no command of its own.  So the engine gets the statement as it was
planned just if it is one batch.

* `executeBatches_executes` — the batches are given in order, up to the first that fails.
* `givesNone_load` — loading gives no command.
* `createTable_gives_statement_iff` — the engine gets the statement and nothing else, just if none
  of the texts in it that come from the caller breaks.
* `createTable_separator_in_name` — the name of a column may break.
-/

set_option autoImplicit false

namespace SqlDialects

open Text

/-! ## Batches -/

/-- The command for a batch. -/
def Batch.command (b : Batch) (timeout : UInt32) : Command := { text := b.sql, timeout }

/-- The timing of a batch. -/
def Batch.timing (b : Batch) : BatchTiming := { line := b.line }

/-- **Batches are given in order**, up to and including the first that fails.  If none does, there
is a timing for each of them. -/
theorem executeBatches_executes (c : Connection) (timeout : UInt32) (batches : List Batch) :
    (executeBatches c timeout batches).run.Ensures fun outcome trace =>
      Executes c (batches.map fun b => b.command timeout) (outcome.map fun _ => ()) trace ∧
        ∀ timings, outcome = .ok timings → timings = batches.map Batch.timing := by
  induction batches with
  | nil => exact .done ⟨.nothing, fun timings h => (Except.ok.inj h).symm⟩
  | cons b rest ih =>
    refine .execute_bind (fun count => ?_) fun e => ⟨.failed _ _ e, fun _ h => by contradiction⟩
    refine .bind ih ?_ ?_
    · rintro timings trace ⟨hexecutes, htimings⟩
      refine .done ?_
      rw [List.append_nil]
      obtain rfl := htimings timings rfl
      exact ⟨.passed _ count hexecutes, fun _ h => (Except.ok.inj h).symm⟩
    · rintro e trace ⟨hexecutes, -⟩
      exact ⟨.passed _ count hexecutes, fun _ h => by contradiction⟩

/-- The commands for batches: the first of them in any case, and all of them unless one fails. -/
theorem executeBatches_ensures (c : Connection) (timeout : UInt32) (batches : List Batch) :
    (executeBatches c timeout batches).run.Ensures fun outcome trace =>
      givenCommands trace <+: batches.map (fun b => b.command timeout) ∧
        (batches ≠ [] → givenCommands trace ≠ []) ∧
        (∀ timings, outcome = .ok timings →
          givenCommands trace = batches.map fun b => b.command timeout) := by
  refine (executeBatches_executes c timeout batches).mono fun outcome trace hends => ?_
  have hexecutes := hends.1
  refine ⟨hexecutes.givenCommands_prefix, fun hne => ?_, fun timings htimings => ?_⟩
  · exact hexecutes.givenCommands_ne_nil (by simpa using hne)
  · subst htimings
    exact hexecutes.givenCommands_eq

/-! ## Loading -/

/-- **Loading gives no command.** -/
theorem givesNone_load (t : Table) (data : DataSet) (culture : Culture) (timeout : UInt32) :
    (t.load data culture timeout).run.GivesNone :=
  (t.load_ensures data culture timeout).mono fun _ _ hloads => hloads.givenCommands_eq_nil

/-! ## Creating -/

/-- The batches of the statement are given on a connection that is opened for them, and nothing is
given afterwards. -/
theorem givenCommands_createTable {d : Database} {args : CreateTableArgs} {plan : CreateTablePlan}
    (hplan : planCreateTable d args = .ok plan) {σ : Type} (engine : Engine σ) (s : σ) :
    givenCommands ((d.createTable args).run.run engine s).2.1 =
      givenCommands
        ((d.runScript plan.sql args.batchSeparator args.timeout).run.run engine s).2.1 := by
  have hcreate : (d.createTable args).run = (d.createPlanned args plan).run := by
    rw [Database.createTable, hplan]
    rfl
  rw [hcreate]
  refine givenCommands_bind (fun batches => ?_) _ engine s
  split
  · exact .done _
  · refine .bind (.attempt (givesNone_load _ _ _ _)) fun outcome => ?_
    split <;> exact .done _

/-- On the connection that is opened first, the batches are executed. -/
theorem givenCommands_runScript {d : Database} {σ : Type} {engine : Engine σ} {s : σ}
    {c : Connection} (hopen : (engine.answer (.openConnection (some d.name)) s).1 = Except.ok c)
    (script separator : String) (timeout : UInt32) :
    givenCommands ((d.runScript script separator timeout).run.run engine s).2.1 =
      givenCommands ((executeBatches c timeout (splitBatches script separator)).run.run engine
        (engine.answer (.openConnection (some d.name)) s).2).2.1 := by
  rw [Database.runScript, run_withConnection_none, Program.run]
  simp only [hopen, givenCommands_cons, command?, Option.toList_none, List.nil_append]
  rw [Program.run_andThen]
  simp [Program.run, givenCommands_cons, command?, runBatches]

theorem run_executeBatches_cons (c : Connection) (timeout : UInt32) (b : Batch)
    (rest : List Batch) :
    (executeBatches c timeout (b :: rest)).run =
      .ask (.execute c (b.command timeout)) fun
        | Except.error e => .done (.error e)
        | Except.ok _ => (executeBatches c timeout rest).run.andThen fun
          | .error e => .done (.error e)
          | .ok timings => .done (.ok ({ line := b.line } :: timings)) := by
  refine congrArg (Program.ask _) (funext fun answer => ?_)
  cases answer with
  | error e => rfl
  | ok count =>
    refine congrArg (Program.andThen (executeBatches c timeout rest).run)
      (funext fun outcome => ?_)
    cases outcome <;> rfl

/-- An engine without rules lets every batch pass. -/
theorem run_executeBatches_script (c : Connection) (timeout : UInt32) (batches : List Batch)
    {s : Script} (hrules : s.failRules = []) :
    ∃ timings, ((executeBatches c timeout batches).run.run Script.engine s).1 = .ok timings := by
  induction batches generalizing s with
  | nil => exact ⟨[], rfl⟩
  | cons b rest ih =>
    have hanswer : (Script.engine.answer (.execute c (b.command timeout)) s).1 =
        Except.ok s.affected := by
      simp only [Script.engine, Script.answer, hrules, failing]
      rfl
    obtain ⟨timings, htimings⟩ := ih
      (s := (Script.engine.answer (.execute c (b.command timeout)) s).2)
      (by simp [Script.engine, Script.answer, hrules, failing])
    rw [run_executeBatches_cons, Program.run]
    simp only [hanswer]
    rw [Program.run_andThen]
    simp only [htimings]
    exact ⟨_, rfl⟩

/-- **The engine gets the statement as it was planned and nothing else**, whatever it answers, just
if none of the texts in it that come from the caller breaks. -/
theorem createTable_gives_statement_iff {d : Database} {args : CreateTableArgs}
    {plan : CreateTablePlan} (hplan : planCreateTable d args = .ok plan)
    (hseparator : args.batchSeparator = defaultSeparator) :
    (∀ (σ : Type) (engine : Engine σ) (s : σ) (c : Connection),
      (engine.answer (.openConnection (some d.name)) s).1 = Except.ok c →
      givenCommands ((d.createTable args).run.run engine s).2.1 =
        [{ text := plan.sql, timeout := args.timeout }]) ↔
    ∀ t ∈ args.givenTexts d plan.columns, ¬ Breaks defaultSeparator t := by
  obtain ⟨qualifiedName, hplanned⟩ := exists_planned hplan
  obtain ⟨hframed, hbreaks⟩ := breaks_createTableSql hplanned.columns_ne_nil
    hplanned.qualified hplanned.statement
  have hsplit := hframed.splitBatches_eq_singleton_iff (by decide +kernel)
  rw [hbreaks, not_exists] at hsplit
  simp only [not_and] at hsplit
  rw [← hsplit]
  constructor
  · intro hgives
    -- an engine that answers everything gives all batches, so there is one only
    have hopen : (Script.engine.answer (.openConnection (some d.name)) {}).1 =
        Except.ok ⟨1, some d.name⟩ := rfl
    have hcommands := hgives Script Script.engine {} _ hopen
    rw [givenCommands_createTable hplan, givenCommands_runScript hopen, hseparator] at hcommands
    obtain ⟨timings, htimings⟩ := run_executeBatches_script ⟨1, some d.name⟩ args.timeout
      (splitBatches plan.sql defaultSeparator)
      (s := (Script.engine.answer (.openConnection (some d.name)) {}).2) rfl
    have hall := (executeBatches_ensures ⟨1, some d.name⟩ args.timeout
      (splitBatches plan.sql defaultSeparator) Script Script.engine _).2.2 timings htimings
    rw [hall] at hcommands
    have htexts := congrArg (List.map Command.text) hcommands
    simpa [Function.comp_def, Batch.command] using htexts
  · intro hwhole σ engine s c hopen
    obtain ⟨b, hb, hsql⟩ : ∃ b, splitBatches plan.sql defaultSeparator = [b] ∧
        b.sql = plan.sql := by
      obtain ⟨b, rest, hb, hsql, hrest⟩ := List.map_eq_cons_iff.mp hwhole
      rw [List.map_eq_nil_iff.mp hrest] at hb
      exact ⟨b, hb, hsql⟩
    rw [givenCommands_createTable hplan, givenCommands_runScript hopen, hseparator, hb]
    -- of one batch, the part that is given is all of it
    obtain ⟨hfront, hne, -⟩ := executeBatches_ensures c args.timeout [b] σ engine
      (engine.answer (.openConnection (some d.name)) s).2
    rw [List.map_singleton, Batch.command, hsql] at hfront
    obtain ⟨rest, hrest, hnil⟩ := (List.prefix_cons_iff.mp hfront).resolve_left (hne (by simp))
    rw [hrest, List.prefix_nil.mp hnil]

/-- A table and a column that are called like the separator. -/
def separatorTable : CreateTableArgs where
  table := "GO"
  explicitColumns := [.ofName "GO" "int"]

/-- The separator within a line is no separator. -/
theorem separatorTable_gives_statement :
    ∃ plan, planCreateTable (shop .mssql) separatorTable = .ok plan ∧
      ∀ (σ : Type) (engine : Engine σ) (s : σ) (c : Connection),
        (engine.answer (.openConnection (some "shop")) s).1 = Except.ok c →
        givenCommands (((shop .mssql).createTable separatorTable).run.run engine s).2.1 =
          [{ text := plan.sql, timeout := 30 }] := by
  have hplan : planCreateTable (shop .mssql) separatorTable = .ok ⟨separatorTable.explicitColumns,
      [], "CREATE TABLE [shop]..[GO](\n[GO] int NULL\n)"⟩ := rfl
  refine ⟨_, hplan, (createTable_gives_statement_iff hplan rfl).mpr ?_⟩
  have hlines : ∀ t ∈ separatorTable.givenTexts (shop .mssql) separatorTable.explicitColumns,
      '\n' ∉ t := by
    decide +kernel
  exact fun t ht => not_breaks_of_notMem (hlines t ht)

/-- A table with a column that has the separator on a line of its name. -/
def brokenTable : CreateTableArgs where
  table := "t"
  explicitColumns := [.ofName "a\nGO\nb" "int"]

/-- The name is valid, and the statement is cut in two within the quotes. -/
theorem createTable_separator_in_name :
    ∃ plan, planCreateTable (shop .mssql) brokenTable = .ok plan ∧
      brokenTable.batchSeparator = defaultSeparator ∧
      plan.sql = "CREATE TABLE [shop]..[t](\n[a\nGO\nb] int NULL\n)" ∧
      (givenCommands (((shop .mssql).createTable brokenTable).run.run Script.engine {}).2.1).map
          Command.text = ["CREATE TABLE [shop]..[t](\n[a", "b] int NULL\n)"] :=
  ⟨⟨brokenTable.explicitColumns, [], "CREATE TABLE [shop]..[t](\n[a\nGO\nb] int NULL\n)"⟩, rfl,
    rfl, rfl, by decide +kernel⟩

end SqlDialects
