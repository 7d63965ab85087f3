import SqlDialects.Proofs.Engine.Conduct
import SqlDialects.Schema.Table

/-!
# Operations respect the transaction of their caller

Operations on databases, tables and columns take a transaction of their caller, if there is one.

* **Within a transaction** an operation only works on its connection: to begin, to end and to close
  is left to the holder (`RespectsTransaction`).
* **Without one** an operation opens one connection at most, works on that and closes it
  (`IsOnOwnConnection`).  Only leaving each row once takes a transaction then, which is ended in one
  way and once (`InOwnTransaction`).

Whatever an operation has to check comes before the connection and whatever it makes of the answers
comes after it, so the rules of `Program.Respects` have one case for each.
`SchemaOperation.perform_respects_transaction` puts the operations together.
-/

set_option autoImplicit false

namespace SqlDialects

/-! ## Without a transaction of the caller -/

/-- **On a connection of its own**: none is opened, or one that is worked on and closed. -/
inductive IsOnOwnConnection : List Exchange → Prop
  | nothing : IsOnOwnConnection []
  | notOpened (database : Option String) (e : SqlError) :
      IsOnOwnConnection [⟨.openConnection database, .error e⟩]
  | opened (database : Option String) (c : Connection) {work : List Exchange}
      (h : IsWorkOn c work) :
      IsOnOwnConnection (⟨.openConnection database, .ok c⟩ :: work ++ [⟨.close c, ()⟩])

/-- **In a transaction of its own**: commands are given within a transaction that is begun once for
them.  It is committed if all of them have succeeded, and rolled back once if one of them or the
commit has failed. -/
inductive InOwnTransaction (commands : List Command) :
    Except SqlError Unit → List Exchange → Prop
  | notOpened (database : Option String) (e : SqlError) :
      InOwnTransaction commands (.error e) [⟨.openConnection database, .error e⟩]
  | notBegun (database : Option String) (c : Connection) (e : SqlError) :
      InOwnTransaction commands (.error e)
        [⟨.openConnection database, .ok c⟩, ⟨.beginTransaction c, .error e⟩, ⟨.close c, ()⟩]
  | committed (database : Option String) (c : Connection) {work : List Exchange}
      (h : Executes c commands (.ok ()) work) :
      InOwnTransaction commands (.ok ())
        (⟨.openConnection database, .ok c⟩ :: ⟨.beginTransaction c, .ok ()⟩ :: work ++
          [⟨.commit c, .ok ()⟩, ⟨.close c, ()⟩])
  | notCommitted (database : Option String) (c : Connection) {work : List Exchange}
      (h : Executes c commands (.ok ()) work) (e : SqlError) (undone : Except SqlError Unit) :
      InOwnTransaction commands (.error e)
        (⟨.openConnection database, .ok c⟩ :: ⟨.beginTransaction c, .ok ()⟩ :: work ++
          [⟨.commit c, .error e⟩, ⟨.rollback c, undone⟩, ⟨.close c, ()⟩])
  | rolledBack (database : Option String) (c : Connection) {work : List Exchange} {e : SqlError}
      (h : Executes c commands (.error e) work) (undone : Except SqlError Unit) :
      InOwnTransaction commands (.error e)
        (⟨.openConnection database, .ok c⟩ :: ⟨.beginTransaction c, .ok ()⟩ :: work ++
          [⟨.rollback c, undone⟩, ⟨.close c, ()⟩])

/-- An action in a transaction of its own, as a tree. -/
theorem run_withTransaction_none {α : Type} (database : Option String)
    (action : Connection → Action α) :
    (withTransaction database none action).run =
      .ask (.openConnection database) fun
        | Except.error e => .done (.error e)
        | Except.ok c => .ask (.beginTransaction c) fun
          | Except.error e => .ask (.close c) fun _ => .done (.error e)
          | Except.ok _ => (action c).run.andThen fun
            | .error e => .ask (.rollback c) fun _ => .ask (.close c) fun _ => .done (.error e)
            | .ok a => .ask (.commit c) fun
              | Except.error e =>
                .ask (.rollback c) fun _ => .ask (.close c) fun _ => .done (.error e)
              | Except.ok _ => .ask (.close c) fun _ => .done (.ok a) := by
  refine congrArg (Program.ask _) (funext fun opened => ?_)
  cases opened with
  | error e => rfl
  | ok c =>
    refine congrArg (Program.ask _) (funext fun begun => ?_)
    cases begun with
    | error e => rfl
    | ok =>
      show ((action c).run.andThen _).andThen _ = (action c).run.andThen _
      rw [Program.andThen_assoc]
      refine congrArg (Program.andThen (action c).run) (funext fun outcome => ?_)
      cases outcome with
      | error e => rfl
      | ok a =>
        refine congrArg (Program.ask _) (funext fun committed => ?_)
        cases committed <;> rfl

/-- Commands that are given without a transaction of the caller get one of their own. -/
theorem withTransaction_ensures {database : Option String} {commands : List Command}
    {action : Connection → Action Unit}
    (h : ∀ c, (action c).run.Ensures (Executes c commands)) :
    (withTransaction database none action).run.Ensures (InOwnTransaction commands) := by
  rw [run_withTransaction_none]
  refine .ask fun opened => ?_
  cases opened with
  | error e => exact .done (.notOpened database e)
  | ok c =>
    refine .ask fun begun => ?_
    cases begun with
    | error e => exact .ask fun _ => .done (.notBegun database c e)
    | ok =>
      refine .andThen (h c) fun outcome work hwork => ?_
      cases outcome with
      | error e =>
        exact .ask fun undone => .ask fun _ => .done (.rolledBack database c hwork undone)
      | ok =>
        refine .ask fun ended => ?_
        cases ended with
        | ok => exact .ask fun _ => .done (.committed database c hwork)
        | error e =>
          exact .ask fun undone => .ask fun _ => .done (.notCommitted database c hwork e undone)

/-! ## Programs that respect a transaction -/

/-- **What is left to the holder of a transaction is left to him**: within one there is only work on
its connection, and without one a connection is opened for the purpose. -/
def RespectsTransaction (transaction : Option Transaction) (trace : List Exchange) : Prop :=
  match transaction with
  | some t => IsWorkOn t.connection trace
  | none => IsOnOwnConnection trace

/-- A program that respects the transaction of its caller, whatever the engine answers. -/
def Program.Respects {α : Type} (transaction : Option Transaction) (p : Program α) : Prop :=
  p.Ensures fun _ trace => RespectsTransaction transaction trace

namespace Program.Respects

variable {α β : Type} {transaction : Option Transaction}

/-- What calls nothing respects everything. -/
theorem done (a : α) : (Program.done a).Respects transaction := by
  refine Ensures.done ?_
  cases transaction with
  | some t => exact isWorkOn_nil
  | none => exact .nothing

theorem withConnection {database : Option String} {action : Connection → Action α}
    (h : ∀ c, (action c).run.WorksOn c) :
    (withConnection database transaction action).run.Respects transaction := by
  cases transaction with
  | some t => exact h t.connection
  | none =>
    rw [run_withConnection_none]
    refine Ensures.ask fun answer => ?_
    cases answer with
    | error e => exact .done (.notOpened database e)
    | ok c =>
      exact Ensures.andThen (h c) fun _ work hwork => .ask fun _ => .done (.opened database c hwork)

/-- Checks that come first and call nothing. -/
theorem check {x : Except SqlError α} {f : α → Action β}
    (hf : ∀ a, (f a).run.Respects transaction) :
    ((liftM x : Action α) >>= f).run.Respects transaction := by
  cases x with
  | error e => exact done (Except.error e)
  | ok a => exact hf a

/-- What is made of the result without further calls. -/
theorem conclude {p : Program α} {f : α → Program β} (hp : p.Respects transaction)
    (hf : ∀ a, ∃ b, f a = .done b) : (p.andThen f).Respects transaction := by
  refine Ensures.andThen hp fun a trace htrace => ?_
  obtain ⟨b, hb⟩ := hf a
  rw [hb]
  refine .done ?_
  rwa [List.append_nil]

/-- What is made of the result of an action without further calls. -/
theorem bind {x : Action α} {f : α → Action β} (hx : x.run.Respects transaction)
    (hf : ∀ a, ∃ b, (f a).run = .done b) : (x >>= f).run.Respects transaction := by
  refine conclude hx fun outcome => ?_
  cases outcome with
  | error e => exact ⟨.error e, rfl⟩
  | ok a => exact hf a

end Program.Respects

/-! ## Tables -/

/-- Commands of the statements that are run in order. -/
def statementCommands (timeout : UInt32) (statements : List String) : List Command :=
  statements.map fun sql => { text := sql, timeout }

theorem Table.runStatements_executes (c : Connection) (timeout : UInt32)
    (statements : List String) :
    (Table.runStatements c timeout statements).run.Ensures
      (Executes c (statementCommands timeout statements)) := by
  induction statements with
  | nil => exact .done .nothing
  | cons sql rest ih =>
    refine .execute_bind (fun count => ?_) fun e => .failed _ _ e
    exact ih.mono fun outcome trace h => .passed _ count h

namespace Table

variable {transaction : Option Transaction}

theorem worksOn_columnsOn (t : Table) (c : Connection) : (t.columnsOn c).run.WorksOn c :=
  .bind (.call rfl) fun _ => .done _

theorem respects_columns (t : Table) : (t.columns transaction).run.Respects transaction :=
  .withConnection t.worksOn_columnsOn

theorem respects_column (t : Table) (name : String) :
    (t.column name transaction).run.Respects transaction := by
  refine .bind t.respects_columns fun columns => ?_
  split <;> exact ⟨_, rfl⟩

theorem respects_exists (t : Table) : (t.exists? transaction).run.Respects transaction := by
  rw [exists?, onConnection]
  exact .withConnection fun c => .bind (.call rfl) fun _ => .done _

theorem respects_relationships (t : Table) :
    (t.relationships transaction).run.Respects transaction := by
  rw [relationships, onConnection]
  exact .withConnection fun c => .call rfl

theorem respects_drop (t : Table) : (t.drop transaction).run.Respects transaction := by
  rw [drop, onConnection]
  exact .withConnection fun c => .call rfl

theorem respects_execute (t : Table) (sql : String) :
    (t.execute transaction sql).run.Respects transaction := by
  rw [execute, onConnection]
  exact .bind (.withConnection fun c => worksOn_execute c _) fun _ => ⟨_, rfl⟩

theorem respects_rowCount (t : Table) : (t.rowCount transaction).run.Respects transaction := by
  refine .check fun name => .bind ?_ fun _ => ⟨_, rfl⟩
  exact .withConnection fun c => worksOn_scalar c _

theorem respects_addColumnOfType (t : Table) (name sqlType : String) (nullable : Bool) :
    (t.addColumnOfType name sqlType nullable transaction).run.Respects transaction :=
  .check fun _ => .check fun _ => .check fun _ => t.respects_execute _

theorem respects_dropColumn (t : Table) (name : String) :
    (t.dropColumn name transaction).run.Respects transaction :=
  .check fun _ => .check fun _ => t.respects_execute _

theorem respects_rename (t : Table) (newName : String) :
    (t.rename newName transaction).run.Respects transaction := by
  rw [rename]
  split
  · exact .done _
  · exact .check fun _ => .check fun _ => .check fun _ => .check fun _ =>
      .bind (t.respects_execute _) fun _ => ⟨_, rfl⟩

theorem respects_truncate (t : Table) : (t.truncate transaction).run.Respects transaction :=
  .check fun _ => t.respects_execute _

theorem respects_addPrimaryKey (t : Table) (columns : List String) :
    (t.addPrimaryKey columns transaction).run.Respects transaction := by
  rw [addPrimaryKey]
  split
  · exact .done _
  · exact .check fun _ => .check fun _ => .check fun _ => t.respects_execute _

theorem respects_addForeignKey (t : Table) (pairs : List (Column × Column)) (cascade : Bool) :
    (t.addForeignKey pairs cascade transaction).run.Respects transaction := by
  refine .check fun primary => ?_
  split
  · exact .done _
  · exact .check fun _ => .check fun _ => .check fun _ => .check fun _ => .check fun _ =>
      .bind (t.respects_execute _) fun _ => ⟨_, rfl⟩

/-- Inserting a row and asking for its number is done on one connection. -/
theorem respects_insert (t : Table) (values : List (String × SqlValue)) (culture : Culture) :
    (t.insert values culture transaction).run.Respects transaction := by
  refine .check fun table => .withConnection fun c => ?_
  refine .bind (t.worksOn_columnsOn c) fun columns => ?_
  refine .bind (.done _) fun bound => .bind (worksOn_execute c _) fun _ => ?_
  split
  · exact .done _
  · refine .bind (.done _) fun wrapped => ?_
    split
    · exact .done _
    · exact .bind (worksOn_scalar c _) fun _ => .done _

/-- Leaving each row once, within a transaction of the caller. -/
theorem worksOn_makeDistinct (t : Table) (timeout : UInt32) (own : Transaction) :
    (t.makeDistinct timeout (some own)).run.WorksOn own.connection := by
  refine .bind (.done _) fun _ => .bind (.done _) fun scratch => .bind (.done _) fun table => ?_
  exact (runStatements_executes _ _ _).mono fun _ _ h => h.isWorkOn

/-- The commands that leave each row once, by way of a scratch table. -/
def distinctCommands (t : Table) (timeout : UInt32) : Except SqlError (List Command) := do
  t.dialect.style.checkObjectName .table (t.name ++ "_DistinctingTemp")
  let scratch ← t.dialect.style.qualifyTable t.database.name t.schema (t.name ++ "_DistinctingTemp")
  let table ← t.qualifiedName
  pure (statementCommands timeout (t.dialect.makeDistinct table scratch))

/-- Leaving each row once, without a transaction of the caller: the names are checked first. -/
theorem makeDistinct_ensures (t : Table) (timeout : UInt32) :
    (t.makeDistinct timeout none).run.Ensures fun outcome trace =>
      match t.distinctCommands timeout with
      | .error e => outcome = .error e ∧ trace = []
      | .ok commands => InOwnTransaction commands outcome trace := by
  rw [makeDistinct, distinctCommands]
  cases t.dialect.style.checkObjectName .table (t.name ++ "_DistinctingTemp") with
  | error e => exact .done ⟨rfl, rfl⟩
  | ok =>
    cases t.dialect.style.qualifyTable t.database.name t.schema (t.name ++ "_DistinctingTemp") with
    | error e => exact .done ⟨rfl, rfl⟩
    | ok scratch =>
      cases t.qualifiedName with
      | error e => exact .done ⟨rfl, rfl⟩
      | ok table => exact withTransaction_ensures fun c => runStatements_executes c timeout _

end Table

/-! ## Types of columns -/

namespace ColumnType

variable {transaction : Option Transaction}

theorem worksOn_runAlterations (c : Connection) (statements : List String) :
    (runAlterations c statements).run.WorksOn c := by
  induction statements with
  | nil => exact .done _
  | cons sql rest ih =>
    refine .bind (.attempt (worksOn_execute c _)) fun outcome => ?_
    cases outcome with
    | error e => exact .done _
    | ok count => exact ih

theorem respects_alterTo (ct : ColumnType) (newType : String) :
    (ct.alterTo newType transaction).Respects transaction := by
  rw [alterTo]
  split
  · exact .done _
  · refine .conclude (.withConnection fun c => worksOn_runAlterations c _) fun outcome => ?_
    cases outcome <;> exact ⟨_, rfl⟩

theorem respects_resize (ct : ColumnType) (width : UInt32) :
    (ct.resize width transaction).Respects transaction := by
  rw [resize]
  simp only
  split
  · exact .done _
  split
  · exact .done _
  split
  · exact .done _
  · exact ct.respects_alterTo _

theorem respects_resizeDecimal (ct : ColumnType) (before after : UInt32) :
    (ct.resizeDecimal before after transaction).Respects transaction := by
  rw [resizeDecimal]
  split
  · exact .done _
  simp only
  split
  · exact .done _
  split
  · exact .done _
  · exact ct.respects_alterTo _

end ColumnType

/-! ## All operations -/

/-- The operations that may run within a transaction of their caller. -/
inductive SchemaOperation where
  | databaseExists (d : Database)
  | tables (d : Database) (includeViews : Bool)
  | tableExists (t : Table)
  | columns (t : Table)
  | column (t : Table) (name : String)
  | relationships (t : Table)
  | rowCount (t : Table)
  | dropTable (t : Table)
  | addColumn (t : Table) (name : String) (r : TypeRequest) (nullable : Bool)
  | addColumnOfType (t : Table) (name sqlType : String) (nullable : Bool)
  | dropColumn (t : Table) (name : String)
  | rename (t : Table) (newName : String)
  | truncate (t : Table)
  | makeDistinct (t : Table) (timeout : UInt32)
  | addPrimaryKey (t : Table) (names : List String)
  | addForeignKey (t : Table) (pairs : List (Column × Column)) (cascade : Bool)
  | insert (t : Table) (values : List (String × SqlValue)) (culture : Culture)
  | resize (ct : ColumnType) (width : UInt32)
  | resizeDecimal (ct : ColumnType) (before after : UInt32)
  | alterTo (ct : ColumnType) (newType : String)

/-- An action of whose result only an error is kept. -/
def Action.ending {α : Type} (action : Action α) : Program (Except SqlError Unit) :=
  action.run.andThen fun outcome => .done (outcome.map fun _ => ())

namespace SchemaOperation

/-- Carries out an operation. -/
def perform (transaction : Option Transaction) :
    SchemaOperation → Program (Except SqlError Unit)
  | databaseExists d => (d.exists? transaction).ending
  | tables d includeViews => (d.tables includeViews transaction).ending
  | tableExists t => (t.exists? transaction).ending
  | columns t => (t.columns transaction).ending
  | column t name => (t.column name transaction).ending
  | relationships t => (t.relationships transaction).ending
  | rowCount t => (t.rowCount transaction).ending
  | dropTable t => (t.drop transaction).ending
  | addColumn t name r nullable => (t.addColumn name r nullable transaction).ending
  | addColumnOfType t name sqlType nullable =>
    (t.addColumnOfType name sqlType nullable transaction).ending
  | dropColumn t name => (t.dropColumn name transaction).ending
  | rename t newName => (t.rename newName transaction).ending
  | truncate t => (t.truncate transaction).ending
  | makeDistinct t timeout => (t.makeDistinct timeout transaction).run
  | addPrimaryKey t names => (t.addPrimaryKey names transaction).ending
  | addForeignKey t pairs cascade => (t.addForeignKey pairs cascade transaction).ending
  | insert t values culture => (t.insert values culture transaction).ending
  | resize ct width => (ct.resize width transaction).andThen fun result => .done result.1
  | resizeDecimal ct before after =>
    (ct.resizeDecimal before after transaction).andThen fun result => .done result.1
  | alterTo ct newType => (ct.alterTo newType transaction).andThen fun result => .done result.1

/-- **The rules of transactions** for an operation. -/
def KeepsRules (operation : SchemaOperation) (transaction : Option Transaction)
    (outcome : Except SqlError Unit) (trace : List Exchange) : Prop :=
  match transaction, operation with
  | some t, _ => IsWorkOn t.connection trace
  | none, makeDistinct t timeout =>
    match t.distinctCommands timeout with
    | .error e => outcome = .error e ∧ trace = []
    | .ok commands => InOwnTransaction commands outcome trace
  | none, _ => IsOnOwnConnection trace

theorem respects_ending {α : Type} {action : Action α} {transaction : Option Transaction}
    (h : action.run.Respects transaction) : action.ending.Respects transaction :=
  .conclude h fun _ => ⟨_, rfl⟩

/-- Whatever takes no transaction of its own respects that of its caller. -/
theorem perform_respects {operation : SchemaOperation} {transaction : Option Transaction}
    (h : ∀ t timeout, operation ≠ makeDistinct t timeout) :
    (operation.perform transaction).Respects transaction := by
  cases operation with
  | databaseExists d =>
    rw [perform, Database.exists?]
    exact respects_ending (.withConnection fun c => .bind (.call rfl) fun _ => .done _)
  | tables d includeViews =>
    refine respects_ending (.bind (.withConnection fun c => ?_) fun _ => ⟨_, rfl⟩)
    exact .call rfl
  | tableExists t => exact respects_ending t.respects_exists
  | columns t => exact respects_ending t.respects_columns
  | column t name => exact respects_ending (t.respects_column name)
  | relationships t => exact respects_ending t.respects_relationships
  | rowCount t => exact respects_ending t.respects_rowCount
  | dropTable t => exact respects_ending t.respects_drop
  | addColumn t name r nullable =>
    exact respects_ending (t.respects_addColumnOfType name _ nullable)
  | addColumnOfType t name sqlType nullable =>
    exact respects_ending (t.respects_addColumnOfType name sqlType nullable)
  | dropColumn t name => exact respects_ending (t.respects_dropColumn name)
  | rename t newName => exact respects_ending (t.respects_rename newName)
  | truncate t => exact respects_ending t.respects_truncate
  | makeDistinct t timeout => exact absurd rfl (h t timeout)
  | addPrimaryKey t names => exact respects_ending (t.respects_addPrimaryKey names)
  | addForeignKey t pairs cascade => exact respects_ending (t.respects_addForeignKey pairs cascade)
  | insert t values culture => exact respects_ending (t.respects_insert values culture)
  | resize ct width => exact .conclude (ct.respects_resize width) fun _ => ⟨_, rfl⟩
  | resizeDecimal ct before after =>
    exact .conclude (ct.respects_resizeDecimal before after) fun _ => ⟨_, rfl⟩
  | alterTo ct newType => exact .conclude (ct.respects_alterTo newType) fun _ => ⟨_, rfl⟩

/-- **Every operation keeps the rules of transactions**, whatever the engine answers. -/
theorem perform_respects_transaction (operation : SchemaOperation)
    (transaction : Option Transaction) :
    (operation.perform transaction).Ensures (operation.KeepsRules transaction) := by
  by_cases hdistinct : ∃ t timeout, operation = makeDistinct t timeout
  · obtain ⟨t, timeout, rfl⟩ := hdistinct
    cases transaction with
    | some own => exact t.worksOn_makeDistinct timeout own
    | none => exact t.makeDistinct_ensures timeout
  · have hrespects : (operation.perform transaction).Respects transaction :=
      perform_respects fun t timeout h => hdistinct ⟨t, timeout, h⟩
    refine hrespects.mono fun outcome trace htrace => ?_
    cases transaction with
    | some own => exact htrace
    | none =>
      cases operation with
      | makeDistinct t timeout => exact absurd ⟨t, timeout, rfl⟩ hdistinct
      | _ => exact htrace

end SchemaOperation

end SqlDialects
